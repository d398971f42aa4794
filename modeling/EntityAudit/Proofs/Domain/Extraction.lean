import Mathlib.Data.List.Forall2
import EntityAudit.Domain.AuditType
import EntityAudit.Proofs.Text.Pieces

/-!
# `EntityAudit.Proofs.Domain.Extraction` — what an accepted type looks like

If a domain type has an audit type, then its name is a type name and every method that reads a column is
a getter: the stem and then the name of the field, which begins with a capital and has a delimited form.
The columns of the audit type are those of the domain type, one by one.

## Contents

* `Method.rawName` — the name of the field that a getter reads
* `Method.Extracts` — a getter and the column that it reads
* `extracts_of_auditField`, `read_of_auditFields`, `extracts_of_auditFields` — one getter, and all of them
* `exists_method_of_mem`, `rawNames_eq`, `name_eq_of_mem` — every column, and every method
* `extracts_of_ofDomain`, `named_of_ofDomain` — an accepted type
* `isTypeNameChar_of_mem` — the characters of a type name
-/

namespace EntityAudit

/-- What follows the stem in the name of a getter. -/
def Method.rawName (m : Method) : String := String.ofList (m.name.toList.drop getterStem.length)

/-- The method is a getter of the column: its name is the stem and the name of the column, which begins
with a capital and has a delimited form. -/
structure Method.Extracts (m : Method) (f : AuditField) : Prop where
  rawName_eq : f.rawName = m.rawName
  name_eq : m.name = getterStem ++ m.rawName
  capital : beginsCapital m.rawName.toList = true
  delimited_ne_nil : Identifier.delimitedChars m.rawName.toList ≠ []
  valueType_eq : ValueType.ofRef? m.returns = some f.valueType

/-! ## One method -/

/-- A getter that reads a field has the stem and the name of the field as its name. -/
theorem getterField?_eq_some {name rawName : String} (h : getterField? name = some rawName) :
    name = getterStem ++ rawName ∧ beginsCapital rawName.toList = true
      ∧ Identifier.delimitedChars rawName.toList ≠ [] := by
  rw [getterField?] at h
  split at h
  · exact absurd h (Option.some_ne_none rawName).symm
  · rename_i rest hrest
    split at h
    · rename_i hcond
      obtain ⟨hcapital, hnonempty⟩ := Bool.and_eq_true_iff.mp hcond
      rw [← Option.some.inj h, String.toList_ofList]
      refine ⟨?_, hcapital, ?_⟩
      · rw [← String.toList_inj, String.toList_append, String.toList_ofList]
        exact Text.isPrefixOf?_eq_some_iff.mp hrest
      · intro hnil
        rw [hnil] at hnonempty
        exact absurd hnonempty Bool.false_ne_true
    · exact absurd h (Option.some_ne_none rawName).symm

theorem Method.rawName_of_name_eq {m : Method} {rawName : String}
    (h : m.name = getterStem ++ rawName) : m.rawName = rawName := by
  rw [Method.rawName, h, String.toList_append, ← String.length_toList, List.drop_left,
    String.ofList_toList]

theorem extracts_of_auditField {typeName : String} {m : Method} {f : AuditField}
    (h : m.auditField typeName = .ok f) : m.Extracts f := by
  rw [Method.auditField] at h
  split at h
  · exact nomatch h
  · rename_i rawName hraw
    split at h
    · exact nomatch h
    · rename_i valueType htype
      obtain ⟨hname, hcapital, hne⟩ := getterField?_eq_some hraw
      have hrawName : m.rawName = rawName := Method.rawName_of_name_eq hname
      cases Except.ok.inj h
      refine ⟨hrawName.symm, ?_, ?_, ?_, htype⟩
      · rw [hrawName]
        exact hname
      · rw [hrawName]
        exact hcapital
      · rw [hrawName]
        exact hne

/-- A column that is read from a getter may be empty. -/
theorem isOptional_of_auditField {typeName : String} {m : Method} {f : AuditField}
    (h : m.auditField typeName = .ok f) : f.isOptional = true := by
  rw [Method.auditField] at h
  split at h
  · exact nomatch h
  · split at h
    · exact nomatch h
    · cases Except.ok.inj h
      rfl

/-! ## All methods -/

/-- If no method has a fault, the columns are read from the methods, one by one. -/
theorem read_of_auditFields {typeName : String} {ms : List Method} {fields : List AuditField}
    (h : auditFields typeName ms = .ok fields) :
    List.Forall₂ (fun m f => m.auditField typeName = .ok f) ms fields := by
  induction ms generalizing fields with
  | nil =>
      rw [auditFields] at h
      cases Except.ok.inj h
      exact .nil
  | cons m rest ih =>
      rw [auditFields] at h
      split at h
      · exact nomatch h
      · rename_i field hfield
        split at h
        · exact nomatch h
        · rename_i others hothers
          cases Except.ok.inj h
          exact .cons hfield (ih hothers)

/-- Then each method is a getter of its column. -/
theorem extracts_of_auditFields {typeName : String} {ms : List Method} {fields : List AuditField}
    (h : auditFields typeName ms = .ok fields) : List.Forall₂ Method.Extracts ms fields :=
  (read_of_auditFields h).imp fun _ _ => extracts_of_auditField

/-- Every column belongs to one of the methods. -/
theorem exists_method_of_mem {R : Method → AuditField → Prop} {ms : List Method}
    {fields : List AuditField} (h : List.Forall₂ R ms fields) {f : AuditField} (hf : f ∈ fields) :
    ∃ m ∈ ms, R m f := by
  induction h with
  | nil => exact absurd hf List.not_mem_nil
  | @cons m field ms fields hm _ ih =>
      rcases List.mem_cons.mp hf with rfl | hrest
      · exact ⟨m, List.mem_cons_self, hm⟩
      · obtain ⟨m', hm', hread⟩ := ih hrest
        exact ⟨m', List.mem_cons_of_mem m hm', hread⟩

/-- The fields are those that the methods name, in the same order. -/
theorem rawNames_eq {ms : List Method} {fields : List AuditField}
    (h : List.Forall₂ Method.Extracts ms fields) :
    ms.map Method.rawName = fields.map AuditField.rawName := by
  rw [← List.forall₂_eq_eq_eq, List.forall₂_map_left_iff, List.forall₂_map_right_iff]
  exact h.imp fun m f hextracts => hextracts.rawName_eq.symm

/-- Every method is a getter of its field. -/
theorem name_eq_of_mem {ms : List Method} {fields : List AuditField}
    (h : List.Forall₂ Method.Extracts ms fields) {m : Method} (hm : m ∈ ms) :
    m.name = getterStem ++ m.rawName := by
  induction h with
  | nil => exact absurd hm List.not_mem_nil
  | cons hextracts _ ih =>
      rcases List.mem_cons.mp hm with rfl | hrest
      · exact hextracts.name_eq
      · exact ih hrest

/-- Every column may be empty. -/
theorem isOptional_of_auditFields {typeName : String} {ms : List Method} {fields : List AuditField}
    (h : auditFields typeName ms = .ok fields) : ∀ f ∈ fields, f.isOptional = true := by
  intro f hf
  obtain ⟨m, -, hread⟩ := exists_method_of_mem (read_of_auditFields h) hf
  exact isOptional_of_auditField hread

/-! ## Types -/

/-- The characters of a type name are ASCII letters and digits, `_` and `$`. -/
theorem isTypeNameChar_of_mem {name : String} (h : isTypeName name = true) {c : Char}
    (hc : c ∈ name.toList) : isTypeNameChar c = true := by
  unfold isTypeName at h
  split at h
  · exact absurd h Bool.false_ne_true
  · rename_i first rest hname
    obtain ⟨hfirst, hrest⟩ := Bool.and_eq_true_iff.mp h
    rw [hname] at hc
    rcases List.mem_cons.mp hc with rfl | htail
    · simp [isTypeNameChar, Char.isAlphanum, hfirst]
    · exact List.all_eq_true.mp hrest c htail

/-- **The columns of an accepted type are those of its getters**, and its name is a type name. -/
theorem extracts_of_ofDomain {n : Naming} {t : DomainType} {a : AuditType}
    (h : AuditType.ofDomain n t = .ok a) :
    isTypeName t.name = true ∧ a.domainName = t.name
      ∧ List.Forall₂ Method.Extracts t.columns a.fields := by
  rw [AuditType.ofDomain] at h
  split at h
  · rename_i hname
    split at h
    · exact nomatch h
    · rename_i fields hfields
      cases Except.ok.inj h
      exact ⟨hname, rfl, extracts_of_auditFields hfields⟩
  · exact nomatch h

/-- An accepted type is named and placed by the naming, and each of its columns may be empty. -/
theorem named_of_ofDomain {n : Naming} {t : DomainType} {a : AuditType}
    (h : AuditType.ofDomain n t = .ok a) :
    a.generatedName = n.generatedName t.name ∧ a.package = n.package
      ∧ ∀ f ∈ a.fields, f.isOptional = true := by
  rw [AuditType.ofDomain] at h
  split at h
  · split at h
    · exact nomatch h
    · rename_i fields hfields
      cases Except.ok.inj h
      exact ⟨rfl, rfl, isOptional_of_auditFields hfields⟩
  · exact nomatch h

end EntityAudit
