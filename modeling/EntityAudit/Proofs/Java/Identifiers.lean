import EntityAudit.Proofs.Identifier.RoundTrip
import EntityAudit.Proofs.Java.Members

/-!
# `EntityAudit.Proofs.Java.Identifiers` — whether a compiler takes the names of a class

A class has five kinds of names of its own: that of the class, and for each field the private field, the
two accessors and the parameter of the setter.  Where the methods of the domain type have legal names, all
of them are legal identifiers.  The first four have a piece of text in them that no reserved word has; the
parameter is the bare delimited form, and it is a reserved word whenever the only word of its field is.

## Contents

* `IsIdentifier`, `reservedWords`, `IsUsable` — names in a source text
* `isTypeNameChar_of_mem_delimitedChars`, `isTypeNameChar_of_mem_compactChars` — both spellings stay
  within the characters of identifiers
* `reservedWords_apart`, `delimited_mem_reservedWords_iff` — how reserved words look, and when a
  delimited form is one
* `Property.Usable`, `usable_ofField` — the names of a field
* `isUsable_generatedName`, `usable_of_ofDomain` — the names of every accepted type
* `parameter_reserved` — a parameter that is a reserved word
-/

namespace EntityAudit

open Identifier (delimiter words delimitedChars compactChars capitalizeChars beginsSmall)

namespace Java

/-! ## Names in a source text -/

/-- A character that may begin an identifier: an ASCII letter, `_` or `$`. -/
def isIdentifierStart (c : Char) : Bool := c.isAlpha || c == '_' || c == '$'

/-- A legal identifier of ASCII characters. -/
def IsIdentifier (s : String) : Prop :=
  ∃ c rest, s.toList = c :: rest ∧ isIdentifierStart c = true ∧ ∀ d ∈ rest, isTypeNameChar d = true

/-- The words that are no identifiers: keywords, and the literals of truth values and of no object. -/
def reservedWords : List String :=
  ["abstract", "assert", "boolean", "break", "byte", "case", "catch", "char", "class", "const",
   "continue", "default", "do", "double", "else", "enum", "extends", "final", "finally", "float", "for",
   "goto", "if", "implements", "import", "instanceof", "int", "interface", "long", "native", "new",
   "package", "private", "protected", "public", "return", "short", "static", "strictfp", "super",
   "switch", "synchronized", "this", "throw", "throws", "transient", "try", "void", "volatile", "while",
   "_", "true", "false", "null"]

/-- A name that may be declared. -/
def IsUsable (s : String) : Prop := IsIdentifier s ∧ s ∉ reservedWords

/-- A text whose characters may stand in an identifier is one if it begins like one. -/
theorem isIdentifier_of_start {s : String} {c : Char} {rest : List Char} (hs : s.toList = c :: rest)
    (hstart : isIdentifierStart c = true) (hchars : ∀ d ∈ s.toList, isTypeNameChar d = true) :
    IsIdentifier s := by
  refine ⟨c, rest, hs, hstart, fun d hd => hchars d ?_⟩
  rw [hs]
  exact List.mem_cons_of_mem c hd

end Java

open Java (IsIdentifier IsUsable reservedWords)

/-! ## Characters of identifiers -/

theorem toNat_lt_of_isTypeNameChar {c : Char} (h : isTypeNameChar c = true) : c.toNat < 128 := by
  rw [isTypeNameChar, Bool.or_eq_true, Bool.or_eq_true, beq_iff_eq, beq_iff_eq] at h
  rcases h with (halnum | rfl) | rfl
  · change (c.isAlpha || c.isDigit) = true at halnum
    rcases Bool.or_eq_true_iff.mp halnum with halpha | hdigit
    · exact Identifier.toNat_lt_of_letter (Identifier.letter_of_isAlpha halpha)
    · change (decide ('0'.val ≤ c.val) && decide (c.val ≤ '9'.val)) = true at hdigit
      have hlast := UInt32.le_iff_toNat_le.mp (of_decide_eq_true (Bool.and_eq_true_iff.mp hdigit).2)
      have h9 : '9'.val.toNat = 57 := rfl
      have hvalue : c.toNat = c.val.toNat := rfl
      omega
  · decide
  · decide

/-- The characters of identifiers have both cases among them. -/
theorem typeNameChars_ascii : ∀ n ∈ List.range 128, isTypeNameChar (Char.ofNat n) = true →
    isTypeNameChar (Char.ofNat n).toLower = true ∧ isTypeNameChar (Char.ofNat n).toUpper = true := by
  decide +kernel

theorem isTypeNameChar_cases {c : Char} (h : isTypeNameChar c = true) :
    isTypeNameChar c.toLower = true ∧ isTypeNameChar c.toUpper = true := by
  have hrow := typeNameChars_ascii c.toNat (List.mem_range.mpr (toNat_lt_of_isTypeNameChar h))
  rw [Char.ofNat_toNat] at hrow
  exact hrow h

section Spellings

variable {cs : List Char} (h : ∀ c ∈ cs, isTypeNameChar c = true)

include h

theorem isTypeNameChar_of_mem_lower {d : Char} (hd : d ∈ Unicode.lower cs) : isTypeNameChar d = true := by
  rw [Unicode.lower_ascii fun c hc => toNat_lt_of_isTypeNameChar (h c hc)] at hd
  obtain ⟨c, hc, rfl⟩ := List.mem_map.mp hd
  exact (isTypeNameChar_cases (h c hc)).1

theorem isTypeNameChar_of_mem_capitalizeChars {d : Char} (hd : d ∈ capitalizeChars cs) :
    isTypeNameChar d = true := by
  cases cs with
  | nil => exact absurd hd List.not_mem_nil
  | cons c rest =>
      obtain ⟨hc, hrest⟩ := List.forall_mem_cons.mp h
      rw [capitalizeChars, Unicode.upperChar_ascii (toNat_lt_of_isTypeNameChar hc)] at hd
      rcases List.mem_append.mp hd with hfirst | htail
      · rw [List.mem_singleton.mp hfirst]
        exact (isTypeNameChar_cases hc).2
      · exact hrest d htail

/-- The delimited form of an identifier has characters of identifiers only. -/
theorem isTypeNameChar_of_mem_delimitedChars {d : Char} (hd : d ∈ delimitedChars cs) :
    isTypeNameChar d = true := by
  rw [delimitedChars] at hd
  split at hd
  · exact isTypeNameChar_of_mem_lower h hd
  · refine isTypeNameChar_of_mem_lower (fun c hc => ?_) hd
    rcases Text.mem_intercalate hc with rfl | ⟨w, hw, hmem⟩
    · decide
    · -- The letters of the words stand in the text.
      have hflatten : c ∈ (words cs).flatten := List.mem_flatten.mpr ⟨w, hw, hmem⟩
      exact h c ((Identifier.scan_words cs).flatten_sublist.mem hflatten)

/-- The compact form of an identifier has characters of identifiers only. -/
theorem isTypeNameChar_of_mem_compactChars {d : Char} (hd : d ∈ compactChars cs) :
    isTypeNameChar d = true := by
  rw [compactChars] at hd
  split at hd
  · have hdrop : ∀ c ∈ Identifier.dropLeadingDelimiter cs, isTypeNameChar c = true := by
      intro c hc
      cases cs with
      | nil => exact absurd hc List.not_mem_nil
      | cons e rest =>
          rw [Identifier.dropLeadingDelimiter] at hc
          split at hc
          · exact h c (List.mem_cons_of_mem e hc)
          · exact h c hc
    have hpieces : ∀ w ∈ (Identifier.dropLeadingDelimiter cs).splitOn delimiter, ∀ c ∈ w,
        isTypeNameChar c = true :=
      fun w hw c hc => hdrop c (Text.mem_of_mem_splitOn hw hc).1
    cases hsplit : (Identifier.dropLeadingDelimiter cs).splitOn delimiter with
    | nil =>
        rw [hsplit] at hd
        exact absurd hd List.not_mem_nil
    | cons first others =>
        rw [hsplit] at hd hpieces
        obtain ⟨hfirst, hothers⟩ := List.forall_mem_cons.mp hpieces
        rcases List.mem_append.mp hd with hlower | hrest
        · exact isTypeNameChar_of_mem_lower hfirst hlower
        · obtain ⟨w, hw, hmem⟩ := List.mem_flatMap.mp hrest
          exact isTypeNameChar_of_mem_capitalizeChars (hothers w hw) hmem
  · exact h d hd

end Spellings

/-! ## Reserved words -/

/-- How reserved words begin and end: not like an accessor, a private field or an audit type. -/
theorem reservedWords_apart : ∀ w ∈ reservedWords,
    ¬ "get".toList <+: w.toList ∧ ¬ "set".toList <+: w.toList ∧ ¬ "Audit".toList <:+ w.toList
      ∧ (delimiter ∈ w.toList → w = "_") ∧ w ≠ "" := by
  decide +kernel

/-- **A delimited form is a reserved word exactly when the only word of the name is**, in lowercase. -/
theorem delimited_mem_reservedWords_iff {name : String}
    (h : beginsSmall (delimitedChars name.toList) = true) :
    Identifier.delimited name ∈ reservedWords ↔ delimiter ∉ name.toList
      ∧ ∃ w ∈ reservedWords, (words name.toList).map Unicode.lower = [w.toList] := by
  constructor
  · intro hmem
    obtain ⟨-, -, -, hdelim, hne⟩ := reservedWords_apart _ hmem
    have hfree : delimiter ∉ delimitedChars name.toList := by
      intro hd
      rw [← Identifier.toList_delimited] at h hd
      rw [hdelim hd] at h
      exact absurd h (by decide)
    have hname : delimiter ∉ name.toList := by
      intro hd
      have hcount : (Unicode.lower name.toList).count delimiter = name.toList.count delimiter :=
        Unicode.caseless_underscore.count_lower name.toList
      rw [delimitedChars, if_pos hd, ← List.count_pos_iff, hcount] at hfree
      exact hfree (List.count_pos_iff.mpr hd)
    refine ⟨hname, _, hmem, ?_⟩
    rw [Identifier.delimitedChars_eq_intercalate hname] at hfree
    rw [Identifier.toList_delimited, Identifier.delimitedChars_eq_intercalate hname]
    -- With no word the form is empty, and with two there is a delimiter between them.
    cases hwords : (words name.toList).map Unicode.lower with
    | nil =>
        rw [Identifier.delimitedChars_eq_intercalate hname, hwords] at h
        exact absurd h Bool.false_ne_true
    | cons first others =>
        cases others with
        | nil => rw [List.intercalate_singleton]
        | cons second others =>
            rw [hwords, List.intercalate_cons_cons] at hfree
            exact absurd (List.mem_append_left _ (List.mem_append_right _ List.mem_cons_self)) hfree
  · rintro ⟨hname, w, hw, hwords⟩
    have hform : Identifier.delimited name = w := by
      rw [← String.toList_inj, Identifier.toList_delimited,
        Identifier.delimitedChars_eq_intercalate hname, hwords, List.intercalate_singleton]
    rw [hform]
    exact hw

/-! ## The names of a class -/

/-- What a compiler says to the names that a field has in a file with the text `contents`. -/
structure Java.Property.Usable (contents : String) (p : Property) (name : String) : Prop where
  backing : IsUsable p.backing
  getter : IsUsable p.getter
  setter : IsUsable p.setter
  parameter : IsIdentifier p.parameter
  /-- The parameter may be declared unless the only word of the field is reserved. -/
  reserved_iff : p.parameter ∈ reservedWords ↔ delimiter ∉ name.toList
    ∧ ∃ w ∈ reservedWords, (words name.toList).map Unicode.lower = [w.toList]
  /-- The file has the accessors, with these names in their places. -/
  written : ∃ before after, contents = before ++ p.text ++ after

/-- If the columns have legal names, then so have all fields. -/
theorem isTypeNameChar_of_mem_allFields {t : DomainType} {a : AuditType}
    (hname : isTypeName a.domainName = true) (hfields : List.Forall₂ Method.Extracts t.columns a.fields)
    (h : ∀ m ∈ t.columns, ∀ c ∈ m.name.toList, isTypeNameChar c = true) {f : AuditField}
    (hf : f ∈ a.allFields) : ∀ c ∈ f.rawName.toList, isTypeNameChar c = true := by
  rcases List.mem_cons.mp hf with rfl | hf
  · intro c hc
    rw [toList_idField] at hc
    have hending : (delimiter :: "audit_id".toList).all isTypeNameChar = true := by decide
    rcases List.mem_append.mp hc with hlower | hsuffix
    · exact isTypeNameChar_of_mem_lower (fun d hd => isTypeNameChar_of_mem hname hd) hlower
    · exact List.all_eq_true.mp hending c hsuffix
  rcases List.mem_cons.mp hf with rfl | hf
  · exact List.all_eq_true.mp (by decide)
  · obtain ⟨m, hm, hextracts⟩ := exists_method_of_mem hfields hf
    intro c hc
    apply h m hm
    rw [hextracts.name_eq, String.toList_append, ← hextracts.rawName_eq]
    exact List.mem_append_right _ hc

/-- A text that begins with a small letter and has characters of identifiers is an identifier. -/
theorem isIdentifier_of_beginsSmall {s : String} (hsmall : beginsSmall s.toList = true)
    (hchars : ∀ d ∈ s.toList, isTypeNameChar d = true) : IsIdentifier s := by
  cases hs : s.toList with
  | nil =>
      rw [hs] at hsmall
      exact absurd hsmall Bool.false_ne_true
  | cons c rest =>
      rw [hs] at hsmall
      have hletter : c.isAlpha = true := by
        change (c.isUpper || c.isLower) = true
        exact Bool.or_eq_true_iff.mpr (Or.inr hsmall)
      refine Java.isIdentifier_of_start hs ?_ hchars
      rw [Java.isIdentifierStart, hletter]
      rfl

/-- The name of an accessor has characters of identifiers only. -/
theorem isTypeNameChar_of_mem_accessorName {verb name : String} (hverb : verb = "get" ∨ verb = "set")
    (h : ∀ c ∈ name.toList, isTypeNameChar c = true) :
    ∀ d ∈ (Java.accessorName verb name).toList, isTypeNameChar d = true := by
  have hverbs : (verb ++ "_").toList.all isTypeNameChar = true := by
    rcases hverb with rfl | rfl <;> decide
  intro d hd
  rw [Java.accessorName, Identifier.toList_compact, String.toList_append] at hd
  refine isTypeNameChar_of_mem_compactChars (fun c hc => ?_) hd
  exact (List.mem_append.mp hc).elim (List.all_eq_true.mp hverbs c) (h c)

/-- The name of an accessor is usable: it begins with its verb, which no reserved word does. -/
theorem isUsable_accessorName {verb name : String} (hverb : verb = "get" ∨ verb = "set")
    (hbegins : verb.toList <+: (Java.accessorName verb name).toList)
    (h : ∀ c ∈ name.toList, isTypeNameChar c = true) : IsUsable (Java.accessorName verb name) := by
  constructor
  · apply isIdentifier_of_beginsSmall
    · obtain ⟨rest, hrest⟩ := hbegins
      rw [← hrest]
      rcases hverb with rfl | rfl <;> rfl
    · exact isTypeNameChar_of_mem_accessorName hverb h
  · intro hmem
    obtain ⟨hget, hset, -⟩ := reservedWords_apart _ hmem
    rcases hverb with rfl | rfl
    · exact hget hbegins
    · exact hset hbegins

/-- The names of a field with a legal name. -/
theorem usable_ofField {contents : String} {f : AuditField}
    (hsmall : beginsSmall (delimitedChars f.rawName.toList) = true)
    (hchars : ∀ c ∈ f.rawName.toList, isTypeNameChar c = true)
    (hwritten : ∃ before after, contents = before ++ (Java.Property.ofField f).text ++ after) :
    (Java.Property.ofField f).Usable contents f.rawName := by
  have hnamed := Java.Property.namedBy_ofField hsmall
  have hparameter : ∀ c ∈ (Identifier.delimited f.rawName).toList, isTypeNameChar c = true := by
    intro c hc
    rw [Identifier.toList_delimited] at hc
    exact isTypeNameChar_of_mem_delimitedChars hchars hc
  have hbegins : beginsSmall (Identifier.delimited f.rawName).toList = true := by
    rw [Identifier.toList_delimited]
    exact hsmall
  refine ⟨⟨?_, ?_⟩, ?_, ?_, ?_, ?_, hwritten⟩
  · show IsIdentifier ("_" ++ Identifier.delimited f.rawName)
    apply Java.isIdentifier_of_start String.toList_append (by decide)
    rw [String.toList_append]
    exact List.forall_mem_cons.mpr ⟨by decide, hparameter⟩
  · show "_" ++ Identifier.delimited f.rawName ∉ reservedWords
    intro hmem
    obtain ⟨-, -, -, hdelim, -⟩ := reservedWords_apart _ hmem
    -- Only the delimiter alone is reserved, and here a name follows it.
    have hempty : Identifier.delimited f.rawName = "" := by
      have halone := hdelim (by rw [String.toList_append]; exact List.mem_cons_self)
      exact (String.append_right_inj "_").mp halone
    rw [hempty] at hbegins
    exact Bool.false_ne_true hbegins
  · refine isUsable_accessorName (Or.inl rfl) ?_ hparameter
    have hgetter : Java.accessorName "get" (Identifier.delimited f.rawName)
        = "get" ++ Java.memberStem f.rawName := hnamed.getter_eq
    rw [hgetter, String.toList_append]
    exact List.prefix_append _ _
  · refine isUsable_accessorName (Or.inr rfl) ?_ hparameter
    have hsetter : Java.accessorName "set" (Identifier.delimited f.rawName)
        = "set" ++ Java.memberStem f.rawName := hnamed.setter_eq
    rw [hsetter, String.toList_append]
    exact List.prefix_append _ _
  · exact isIdentifier_of_beginsSmall hbegins hparameter
  · exact delimited_mem_reservedWords_iff hsmall

/-- The name of an audit type is usable. -/
theorem isUsable_generatedName {name : String} (h : isTypeName name = true) :
    IsUsable (({} : Naming).generatedName name) := by
  have htext : (({} : Naming).generatedName name).toList = name.toList ++ "Audit".toList :=
    String.toList_append
  constructor
  · have hsuffix : "Audit".toList.all isTypeNameChar = true := by decide
    have hchars : ∀ d ∈ (({} : Naming).generatedName name).toList, isTypeNameChar d = true := by
      intro d hd
      rw [htext] at hd
      exact (List.mem_append.mp hd).elim (isTypeNameChar_of_mem h) (List.all_eq_true.mp hsuffix d)
    unfold isTypeName at h
    split at h
    · exact absurd h Bool.false_ne_true
    · rename_i c rest hname
      rw [hname, List.cons_append] at htext
      refine Java.isIdentifier_of_start htext ?_ hchars
      rw [Java.isIdentifierStart, (Bool.and_eq_true_iff.mp h).1]
      rfl
  · intro hmem
    obtain ⟨-, -, hending, -⟩ := reservedWords_apart _ hmem
    exact hending ⟨name.toList, htext.symm⟩

/-- **The names of the class of every accepted type** whose methods have legal names, under the usual
naming: all are identifiers, and none but the parameter of a setter is ever a reserved word.  The file is the
text of the class, with its name in the header and the names of each field in its accessors. -/
theorem usable_of_ofDomain {t : DomainType} {a : AuditType} (h : AuditType.ofDomain {} t = .ok a)
    (hnames : ∀ m ∈ t.columns, ∀ c ∈ m.name.toList, isTypeNameChar c = true) :
    IsUsable a.generatedName ∧ a.artifact.contents = (Java.EntityClass.ofAuditType a).text ∧
      ∀ f ∈ a.allFields, (Java.Property.ofField f).Usable a.artifact.contents f.rawName := by
  obtain ⟨hname, hdomain, hfields⟩ := extracts_of_ofDomain h
  refine ⟨?_, a.contents_eq_text, ?_⟩
  · rw [(named_of_ofDomain h).1]
    exact isUsable_generatedName hname
  · intro f hf
    rw [← hdomain] at hname
    have hmem : Java.Property.ofField f ∈ (Java.EntityClass.ofAuditType a).properties :=
      List.mem_map_of_mem hf
    exact usable_ofField (beginsSmall_of_mem h hf)
      (isTypeNameChar_of_mem_allFields hname hfields hnames hf) (AuditType.exists_contents_of_mem hmem)

/-- A type with a name that is only lowercased and one that comes out as a reserved word. -/
def boatPorts : DomainType :=
  ⟨"Boat", "a", [.auditable],
    [⟨"getHome_Port$", ⟨"java.lang.String"⟩, [.column]⟩,
     ⟨"getDefault2", ⟨"java.lang.String"⟩, [.column]⟩]⟩

/-- The audit type of that type. -/
def boatPortsAudit : AuditType :=
  ⟨"Boat", "BoatAudit", "com.lsq.systems.metagen58",
    [⟨"Home_Port$", .string, true⟩, ⟨"Default2", .string, true⟩]⟩

/-- The names of the class of that type. -/
theorem usable_boatPorts :
    AuditType.ofDomain {} boatPorts = .ok boatPortsAudit
      ∧ (∀ m ∈ boatPorts.columns, ∀ c ∈ m.name.toList, isTypeNameChar c = true)
      ∧ IsUsable boatPortsAudit.generatedName
      ∧ boatPortsAudit.artifact.contents = (Java.EntityClass.ofAuditType boatPortsAudit).text
      ∧ ∀ f ∈ boatPortsAudit.allFields,
        (Java.Property.ofField f).Usable boatPortsAudit.artifact.contents f.rawName := by
  have haccepted : AuditType.ofDomain {} boatPorts = .ok boatPortsAudit := by decide +kernel
  have hall : (boatPorts.columns.all fun m => m.name.toList.all isTypeNameChar) = true := by
    decide +kernel
  have hnames : ∀ m ∈ boatPorts.columns, ∀ c ∈ m.name.toList, isTypeNameChar c = true :=
    fun m hm => List.all_eq_true.mp (List.all_eq_true.mp hall m hm)
  exact ⟨haccepted, hnames, usable_of_ofDomain haccepted hnames⟩

/-! ## A reserved parameter -/

/-- A type whose column has the name of a keyword. -/
def boatClassed : DomainType :=
  ⟨"Boat", "a", [.auditable], [⟨"getClass", ⟨"java.lang.String"⟩, [.column]⟩]⟩

/-- The audit type of that type. -/
def boatClassedAudit : AuditType :=
  ⟨"Boat", "BoatAudit", "com.lsq.systems.metagen58", [⟨"Class", .string, true⟩]⟩

/-- **Not every parameter may be declared**: the one of this setter is a keyword. -/
theorem parameter_reserved :
    AuditType.ofDomain {} boatClassed = .ok boatClassedAudit
      ∧ (∀ m ∈ boatClassed.columns, ∀ c ∈ m.name.toList, isTypeNameChar c = true)
      ∧ ∃ f ∈ boatClassedAudit.allFields, ¬ IsUsable (Java.Property.ofField f).parameter := by
  have hreserved : (Java.Property.ofField ⟨"Class", .string, true⟩).parameter ∈ reservedWords := by
    decide +kernel
  have hall : (boatClassed.columns.all fun m => m.name.toList.all isTypeNameChar) = true := by
    decide +kernel
  refine ⟨by decide +kernel, ?_, ⟨"Class", .string, true⟩, ?_, ?_⟩
  · exact fun m hm => List.all_eq_true.mp (List.all_eq_true.mp hall m hm)
  · decide
  · exact fun husable => husable.2 hreserved

end EntityAudit
