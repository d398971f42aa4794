import EntityAudit.Proofs.Domain.Extraction
import EntityAudit.Proofs.Domain.Reference

/-!
# `EntityAudit.Proofs.Domain.Decision` — which types have an audit type, and which fault decides

A domain type has an audit type exactly if its name can stand in a class header and all its columns can be
read; the columns of the audit type are then those of the domain type, one by one.  Otherwise the fault is
that of the name, or else that of the first column in the order of declaration that cannot be read.

## Contents

* `IsAsciiName`, `isTypeName_iff` — names
* `Method.Reads`, `Method.Offends` — a method that reads a column, and what is wrong with one that does not
* `auditField_eq_ok_iff`, `auditField_eq_error_iff` — one method
* `auditFields_eq_ok_iff`, `auditFields_eq_error_iff` — all methods
* `AuditType.Describes`, `DomainType.FirstFault`, `ofDomain_decides` — types
-/

namespace EntityAudit

/-! ## Names -/

/-- An ASCII letter and then ASCII letters, digits, `_` and `$`. -/
def IsAsciiName (s : String) : Prop :=
  ∃ first rest, s.toList = first :: rest ∧ first.isAlpha = true ∧
    ∀ c ∈ rest, c.isAlphanum = true ∨ c = '_' ∨ c = '$'

theorem isTypeNameChar_iff {c : Char} :
    isTypeNameChar c = true ↔ c.isAlphanum = true ∨ c = '_' ∨ c = '$' := by
  rw [isTypeNameChar, Bool.or_eq_true, Bool.or_eq_true, beq_iff_eq, beq_iff_eq, or_assoc]

theorem isTypeName_iff {s : String} : isTypeName s = true ↔ IsAsciiName s := by
  unfold isTypeName IsAsciiName
  cases s.toList with
  | nil =>
      constructor
      · exact fun h => absurd h Bool.false_ne_true
      · rintro ⟨first, rest, hnil, -⟩
        exact nomatch hnil
  | cons c tail =>
      rw [Bool.and_eq_true, List.all_eq_true]
      constructor
      · rintro ⟨hc, htail⟩
        exact ⟨c, tail, rfl, hc, fun d hd => isTypeNameChar_iff.mp (htail d hd)⟩
      · rintro ⟨first, rest, hcons, hfirst, hrest⟩
        obtain ⟨rfl, rfl⟩ := List.cons.inj hcons
        exact ⟨hfirst, fun d hd => isTypeNameChar_iff.mpr (hrest d hd)⟩

/-! ## One method -/

/-- The method reads the column: it is a getter of the field, and its reference names the value type. -/
structure Method.Reads (m : Method) (f : AuditField) : Prop where
  getter : getterField? m.name = some f.rawName
  reference : m.returns.Names f.valueType
  isOptional : f.isOptional = true

/-- **What is wrong with a method that reads no column.**  That its name is not one of a getter comes before
that its reference names no value type; the reference is told as it was declared. -/
inductive Method.Offends (typeName : String) (m : Method) : ExtractionError → Prop where
  | accessor (hname : getterField? m.name = none) :
      Offends typeName m (.malformedAccessorName typeName m.name)
  | reference {rawName : String} (hname : getterField? m.name = some rawName)
      (hnone : ∀ t, ¬ m.returns.Names t) :
      Offends typeName m (.unresolvedFieldType typeName m.name m.returns.text)

section Method

variable {typeName : String} {m : Method}

theorem ofRef?_eq_none_iff_names {r : TypeRef} : ValueType.ofRef? r = none ↔ ∀ t, ¬ r.Names t := by
  rw [Option.eq_none_iff_forall_not_mem]
  exact forall_congr' fun t => not_congr (Option.mem_def.trans ofRef?_eq_some_iff_names)

/-- **A method in three cases**: it is no getter, or its reference names nothing, or it reads a column. -/
theorem auditField_cases (typeName : String) (m : Method) :
    (getterField? m.name = none ∧
      m.auditField typeName = .error (.malformedAccessorName typeName m.name)) ∨
    (∃ rawName, getterField? m.name = some rawName ∧ (∀ t, ¬ m.returns.Names t) ∧
      m.auditField typeName = .error (.unresolvedFieldType typeName m.name m.returns.text)) ∨
    (∃ f, m.Reads f ∧ m.auditField typeName = .ok f) := by
  unfold Method.auditField
  cases hname : getterField? m.name with
  | none => exact Or.inl ⟨rfl, rfl⟩
  | some rawName =>
      cases htype : ValueType.ofRef? m.returns with
      | none => exact Or.inr (Or.inl ⟨rawName, rfl, ofRef?_eq_none_iff_names.mp htype, rfl⟩)
      | some valueType =>
          exact Or.inr (Or.inr ⟨_, ⟨hname, ofRef?_eq_some_iff_names.mp htype, rfl⟩, rfl⟩)

/-- A method reads one column at most. -/
theorem Method.Reads.eq {f f' : AuditField} (h : m.Reads f) (h' : m.Reads f') : f = f' := by
  obtain ⟨rawName, valueType, isOptional⟩ := f
  obtain ⟨rawName', valueType', isOptional'⟩ := f'
  obtain rfl : rawName = rawName' := Option.some.inj (h.getter.symm.trans h'.getter)
  obtain rfl : valueType = valueType' := Option.some.inj
    ((ofRef?_eq_some_iff_names.mpr h.reference).symm.trans (ofRef?_eq_some_iff_names.mpr h'.reference))
  obtain rfl : isOptional = isOptional' := h.isOptional.trans h'.isOptional.symm
  rfl

/-- A method that reads a column has nothing wrong with it. -/
theorem Method.Offends.not_reads {e : ExtractionError} (h : m.Offends typeName e) (f : AuditField) :
    ¬ m.Reads f := by
  intro hreads
  cases h with
  | accessor hname => exact nomatch hname.symm.trans hreads.getter
  | reference _ hnone => exact hnone f.valueType hreads.reference

theorem auditField_eq_ok_iff {f : AuditField} : m.auditField typeName = .ok f ↔ m.Reads f := by
  obtain ⟨hname, herror⟩ | ⟨rawName, hname, hnone, herror⟩ | ⟨f', hreads, hok⟩ :=
    auditField_cases typeName m
  · have hoffends : m.Offends typeName _ := .accessor hname
    rw [herror]
    exact ⟨nofun, fun h => absurd h (hoffends.not_reads f)⟩
  · have hoffends : m.Offends typeName _ := .reference hname hnone
    rw [herror]
    exact ⟨nofun, fun h => absurd h (hoffends.not_reads f)⟩
  · rw [hok]
    exact ⟨fun h => Except.ok.inj h ▸ hreads, fun h => congrArg Except.ok (hreads.eq h)⟩

theorem auditField_eq_error_iff {e : ExtractionError} :
    m.auditField typeName = .error e ↔ m.Offends typeName e := by
  constructor
  · intro h
    obtain ⟨hname, herror⟩ | ⟨rawName, hname, hnone, herror⟩ | ⟨f, -, hok⟩ := auditField_cases typeName m
    · rw [herror] at h
      exact Except.error.inj h ▸ .accessor hname
    · rw [herror] at h
      exact Except.error.inj h ▸ .reference hname hnone
    · rw [hok] at h
      exact nomatch h
  · intro h
    unfold Method.auditField
    cases h with
    | accessor hname => rw [hname]
    | reference hname hnone => rw [hname, ofRef?_eq_none_iff_names.mpr hnone]

end Method

/-! ## All methods -/

section Methods

variable {typeName : String} {ms : List Method}

/-- The columns of methods are those that they read, one by one. -/
theorem auditFields_eq_ok_iff {fields : List AuditField} :
    auditFields typeName ms = .ok fields ↔ List.Forall₂ Method.Reads ms fields := by
  constructor
  · exact fun h => (read_of_auditFields h).imp fun _ _ => auditField_eq_ok_iff.mp
  · intro h
    induction h with
    | nil => rfl
    | cons hreads _ ih => rw [auditFields, auditField_eq_ok_iff.mpr hreads, ih]

/-- A method that reads no column has the fault. -/
theorem auditFields_error_of_error {m : Method} {fault e : ExtractionError}
    (h : m.auditField typeName = .error fault) :
    auditFields typeName (m :: ms) = .error e ↔ m.Offends typeName e := by
  rw [auditFields, ← auditField_eq_error_iff, h]
  exact ⟨fun heq => congrArg Except.error (Except.error.inj heq),
    fun heq => congrArg Except.error (Except.error.inj heq)⟩

/-- A method that reads a column leaves the fault to those after it. -/
theorem auditFields_error_of_ok {m : Method} {f : AuditField} {e : ExtractionError}
    (h : m.auditField typeName = .ok f) :
    auditFields typeName (m :: ms) = .error e ↔ auditFields typeName ms = .error e := by
  rw [auditFields, h]
  cases auditFields typeName ms with
  | error fault => exact Iff.rfl
  | ok fields =>
      constructor
      · rintro ⟨⟩
      · rintro ⟨⟩

/-- **The fault of methods is that of the first one that has one.** -/
theorem auditFields_eq_error_iff {e : ExtractionError} :
    auditFields typeName ms = .error e ↔
      ∃ before m after, ms = before ++ m :: after ∧ (∀ m' ∈ before, ∃ f, m'.Reads f)
        ∧ m.Offends typeName e := by
  induction ms with
  | nil =>
      refine ⟨nofun, ?_⟩
      rintro ⟨before, m, after, hnil, -⟩
      exact absurd hnil.symm (List.append_ne_nil_of_right_ne_nil _ (List.cons_ne_nil m after))
  | cons m rest ih =>
      cases hfield : m.auditField typeName with
      | error fault =>
          -- The first method decides, so no list of methods that read a column comes before it.
          have hm := auditField_eq_error_iff.mp hfield
          rw [auditFields_error_of_error hfield]
          constructor
          · exact fun h => ⟨[], m, rest, rfl, fun m' hm' => absurd hm' List.not_mem_nil, h⟩
          · rintro ⟨before, m', after, hsplit, hbefore, hoffends⟩
            cases before with
            | nil => exact (List.cons.inj hsplit).1 ▸ hoffends
            | cons first others =>
                obtain ⟨rfl, -⟩ := List.cons.inj hsplit
                obtain ⟨f, hreads⟩ := hbefore m List.mem_cons_self
                exact absurd hreads (hm.not_reads f)
      | ok field =>
          have hm := auditField_eq_ok_iff.mp hfield
          rw [auditFields_error_of_ok hfield, ih]
          constructor
          · rintro ⟨before, m', after, rfl, hbefore, hoffends⟩
            exact ⟨m :: before, m', after, rfl, List.forall_mem_cons.mpr ⟨⟨field, hm⟩, hbefore⟩, hoffends⟩
          · rintro ⟨before, m', after, hsplit, hbefore, hoffends⟩
            cases before with
            | nil =>
                obtain ⟨rfl, -⟩ := List.cons.inj hsplit
                exact absurd hm (hoffends.not_reads field)
            | cons first others =>
                obtain ⟨rfl, rfl⟩ := List.cons.inj hsplit
                exact ⟨others, m', after, rfl, (List.forall_mem_cons.mp hbefore).2, hoffends⟩

end Methods

/-! ## Types -/

/-- **The audit type describes the domain type**: it has one column for each method that is marked as one, in
the order of their declaration, and is named and placed by the naming. -/
structure AuditType.Describes (a : AuditType) (n : Naming) (t : DomainType) : Prop where
  name : IsAsciiName t.name
  fields : List.Forall₂ Method.Reads (t.methods.filter (fun m => .column ∈ m.markers)) a.fields
  domainName_eq : a.domainName = t.name
  generatedName_eq : a.generatedName = t.name ++ n.suffix
  package_eq : a.package = n.package

/-- **The first fault of a domain type**: its name, or else the first method in the order of declaration that
is marked as a column and reads none. -/
inductive DomainType.FirstFault (t : DomainType) : ExtractionError → Prop where
  | name (hname : ¬ IsAsciiName t.name) : FirstFault t (.invalidTypeName t.name)
  | column {before after : List Method} {m : Method} {e : ExtractionError} (hname : IsAsciiName t.name)
      (hmethods : t.methods = before ++ m :: after)
      (hbefore : ∀ m' ∈ before, .column ∈ m'.markers → ∃ f, m'.Reads f)
      (hcolumn : .column ∈ m.markers) (hoffends : m.Offends t.name e) : FirstFault t e

theorem isColumn_iff {m : Method} : m.isColumn = true ↔ .column ∈ m.markers := List.contains_iff_mem

theorem columns_eq (t : DomainType) :
    t.columns = t.methods.filter (fun m => .column ∈ m.markers) := by
  unfold DomainType.columns
  refine List.filter_congr fun m _ => ?_
  rw [Bool.eq_iff_iff, decide_eq_true_eq]
  exact isColumn_iff

/-- The columns before and after one of them, among all methods. -/
theorem columns_eq_append_cons_iff {t : DomainType} {P : Method → Prop} {m : Method} :
    (∃ before after, t.columns = before ++ m :: after ∧ ∀ m' ∈ before, P m') ↔
      ∃ before after, t.methods = before ++ m :: after ∧ .column ∈ m.markers ∧
        ∀ m' ∈ before, .column ∈ m'.markers → P m' := by
  unfold DomainType.columns
  constructor
  · rintro ⟨before, after, hcolumns, hbefore⟩
    obtain ⟨first, others, hmethods, rfl, hothers⟩ := List.filter_eq_append_iff.mp hcolumns
    obtain ⟨plain, rest, rfl, hplain, hm, -⟩ := List.filter_eq_cons_iff.mp hothers
    refine ⟨first ++ plain, rest, hmethods.trans (List.append_assoc _ _ _).symm, isColumn_iff.mp hm, ?_⟩
    intro m' hm' hmarked
    rcases List.mem_append.mp hm' with hfirst | hskipped
    · exact hbefore m' (List.mem_filter.mpr ⟨hfirst, isColumn_iff.mpr hmarked⟩)
    · exact absurd (isColumn_iff.mpr hmarked) (hplain m' hskipped)
  · rintro ⟨before, after, hmethods, hcolumn, hbefore⟩
    refine ⟨before.filter Method.isColumn, after.filter Method.isColumn, ?_, fun m' hm' => ?_⟩
    · rw [hmethods, List.filter_append, List.filter_cons_of_pos (isColumn_iff.mpr hcolumn)]
    · obtain ⟨hmem, hmarked⟩ := List.mem_filter.mp hm'
      exact hbefore m' hmem (isColumn_iff.mp hmarked)

theorem ofDomain_eq_ok_iff {n : Naming} {t : DomainType} {a : AuditType} :
    AuditType.ofDomain n t = .ok a ↔ isTypeName t.name = true ∧ auditFields t.name t.columns = .ok a.fields
      ∧ a = ⟨t.name, n.generatedName t.name, n.package, a.fields⟩ := by
  unfold AuditType.ofDomain
  constructor
  · intro h
    split at h
    · rename_i hname
      split at h
      · exact nomatch h
      · rename_i fields hfields
        cases h
        exact ⟨hname, hfields, rfl⟩
    · exact nomatch h
  · rintro ⟨hname, hfields, ha⟩
    rw [if_pos hname, hfields, ha]

theorem ofDomain_eq_error_iff {n : Naming} {t : DomainType} {e : ExtractionError} :
    AuditType.ofDomain n t = .error e ↔ (isTypeName t.name ≠ true ∧ .invalidTypeName t.name = e)
      ∨ (isTypeName t.name = true ∧ auditFields t.name t.columns = .error e) := by
  unfold AuditType.ofDomain
  constructor
  · intro h
    split at h
    · rename_i hname
      split at h
      · rename_i fault hfault
        cases h
        exact Or.inr ⟨hname, hfault⟩
      · exact nomatch h
    · rename_i hname
      exact Or.inl ⟨hname, Except.error.inj h⟩
  · rintro (⟨hname, rfl⟩ | ⟨hname, hfault⟩)
    · rw [if_neg hname]
    · rw [if_pos hname, hfault]

/-- **Which types have an audit type, and what it is; which have none, and why.** -/
theorem ofDomain_decides (n : Naming) (t : DomainType) :
    (∀ a, AuditType.ofDomain n t = .ok a ↔ a.Describes n t) ∧
      ∀ e, AuditType.ofDomain n t = .error e ↔ t.FirstFault e := by
  constructor
  · intro a
    rw [ofDomain_eq_ok_iff, auditFields_eq_ok_iff, isTypeName_iff, columns_eq]
    constructor
    · rintro ⟨hname, hreads, ha⟩
      exact ⟨hname, hreads, congrArg AuditType.domainName ha, congrArg AuditType.generatedName ha,
        congrArg AuditType.package ha⟩
    · rintro ⟨hname, hreads, hdomain, hgenerated, hpackage⟩
      refine ⟨hname, hreads, ?_⟩
      rw [Naming.generatedName, ← hdomain, ← hpackage, hdomain, ← hgenerated, ← hdomain]
  · intro e
    rw [ofDomain_eq_error_iff, auditFields_eq_error_iff, ne_eq, isTypeName_iff]
    constructor
    · rintro (⟨hname, rfl⟩ | ⟨hname, before, m, after, hcolumns, hbefore, hoffends⟩)
      · exact .name hname
      · obtain ⟨before', after', hmethods, hcolumn, hbefore'⟩ :=
          columns_eq_append_cons_iff.mp ⟨before, after, hcolumns, hbefore⟩
        exact .column hname hmethods hbefore' hcolumn hoffends
    · intro h
      cases h with
      | name hname => exact Or.inl ⟨hname, rfl⟩
      | @column before after m _ hname hmethods hbefore hcolumn hoffends =>
          obtain ⟨before', after', hcolumns, hbefore'⟩ :=
            columns_eq_append_cons_iff.mpr ⟨before, after, hmethods, hcolumn, hbefore⟩
          exact Or.inr ⟨hname, before', m, after', hcolumns, hbefore', hoffends⟩

end EntityAudit
