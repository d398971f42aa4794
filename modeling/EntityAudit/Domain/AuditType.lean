import EntityAudit.Domain.DomainType
import EntityAudit.Domain.Naming
import EntityAudit.Identifier.Forms

/-!
# `EntityAudit.Domain.AuditType` — the audit type of a domain type

An audit type extends a domain type and has a column for each of its columns, besides an identifier and
a date of its own.  It exists only if the name of the domain type can stand in a class header and every
column is read by a well-named getter of a known type; the first fault found decides.

## Contents

* `AuditField`, `AuditType` — the description of an audit type
* `AuditType.idField`, `AuditType.dateField` — the columns that every audit type has
* `ExtractionError` — why there is none
* `isTypeName`, `getterField?`, `Method.auditField` — the conditions
* `AuditType.ofDomain` — the audit type, or the first fault
-/

namespace EntityAudit

/-! ## Descriptions -/

/-- A column of an audit type. -/
structure AuditField where
  rawName : String
  valueType : ValueType
  isOptional : Bool := true
deriving DecidableEq, Repr

/-- The description of an audit type. -/
structure AuditType where
  domainName : String
  generatedName : String
  package : String
  fields : List AuditField
deriving DecidableEq, Repr

namespace AuditType

/-- The name with the package in front. -/
def qualifiedName (a : AuditType) : String := a.package ++ "." ++ a.generatedName

/-- The identifier of an audit record. -/
def idField (a : AuditType) : AuditField :=
  ⟨Identifier.lowercase a.domainName ++ "_audit_id", .integer, true⟩

/-- The moment of an audit record. -/
def dateField : AuditField := ⟨auditDateName, .date, false⟩

end AuditType

/-! ## Faults -/

/-- Why a domain type has no audit type. -/
inductive ExtractionError where
  /-- The name of the type cannot stand in a class header. -/
  | invalidTypeName (typeName : String)
  /-- A column is not read by a getter of a field with a delimited form. -/
  | malformedAccessorName (typeName method : String)
  /-- The type of a column is not a value type. -/
  | unresolvedFieldType (typeName method : String) (reference : String)
deriving DecidableEq, Repr

namespace ExtractionError

/-- The name of the type that has no audit type. -/
def typeName : ExtractionError → String
  | invalidTypeName t | malformedAccessorName t _ | unresolvedFieldType t _ _ => t

/-- What is wrong, in words. -/
def message : ExtractionError → String
  | invalidTypeName t => "domain type name '" ++ t ++ "' is not a usable identifier"
  | malformedAccessorName t m =>
    "method '" ++ m ++ "' on '" ++ t ++ "' is marked as a column but is not a getter named '"
      ++ getterStem ++ "<Field>'"
  | unresolvedFieldType t m r =>
    "method '" ++ m ++ "' on '" ++ t ++ "' returns unresolved type '" ++ r ++ "'"

end ExtractionError

/-! ## Conditions -/

/-- A character that may follow the first one in the name of a type. -/
def isTypeNameChar (c : Char) : Bool := c.isAlphanum || c == '_' || c == '$'

/-- Whether a text is the name of a type: an ASCII letter, then ASCII letters, digits, `_` and `$`. -/
def isTypeName (s : String) : Bool :=
  match s.toList with
  | [] => false
  | c :: rest => c.isAlpha && rest.all isTypeNameChar

/-- Whether a text begins with an ASCII capital. -/
def beginsCapital : List Char → Bool
  | [] => false
  | c :: _ => Identifier.isCapital c

/-- The name of the field that a getter reads: what follows the stem, if it begins with a capital and
its delimited form is not empty. -/
def getterField? (method : String) : Option String :=
  match getterStem.toList.isPrefixOf? method.toList with
  | none => none
  | some rest =>
    if beginsCapital rest && !(Identifier.delimitedChars rest).isEmpty then some (String.ofList rest)
    else none

/-- The column that a method of the type `typeName` reads. -/
def Method.auditField (typeName : String) (m : Method) : Except ExtractionError AuditField :=
  match getterField? m.name with
  | none => .error (.malformedAccessorName typeName m.name)
  | some rawName =>
    match ValueType.ofRef? m.returns with
    | none => .error (.unresolvedFieldType typeName m.name m.returns.text)
    | some valueType => .ok ⟨rawName, valueType, true⟩

/-! ## Extraction -/

/-- The columns of a list of methods, or the first fault. -/
def auditFields (typeName : String) : List Method → Except ExtractionError (List AuditField)
  | [] => .ok []
  | m :: rest =>
    match m.auditField typeName with
    | .error e => .error e
    | .ok field =>
      match auditFields typeName rest with
      | .error e => .error e
      | .ok fields => .ok (field :: fields)

/-- The audit type of a domain type, or the first fault: that of the name, or that of the first method
that reads a column and has one. -/
def AuditType.ofDomain (n : Naming) (t : DomainType) : Except ExtractionError AuditType :=
  if isTypeName t.name then
    match auditFields t.name t.columns with
    | .error e => .error e
    | .ok fields => .ok ⟨t.name, n.generatedName t.name, n.package, fields⟩
  else .error (.invalidTypeName t.name)

end EntityAudit
