import EntityAudit.Domain.ValueType

/-!
# `EntityAudit.Domain.DomainType` — the types that may be audited

A domain type is a class of the application: its name and package, the markers that its author put on
it, and its methods.  A manifest lists the domain types of an application.

## Contents

* `Marker`, `Method`, `DomainType`, `Manifest`
* `Method.isColumn`, `DomainType.isAuditable`, `DomainType.isEntity`, `DomainType.columns`
* `DomainType.qualifiedName`
-/

namespace EntityAudit

/-! ## Markers -/

/-- An annotation of a domain type or of one of its methods. -/
inductive Marker where
  | auditable
  | column
  | entity
  | generatedValue
  | id
  | table
deriving DecidableEq, Repr

/-- Every marker, in alphabetical order. -/
def Marker.all : List Marker := [auditable, column, entity, generatedValue, id, table]

/-- The name of a marker. -/
def Marker.name : Marker → String
  | auditable => "Auditable"
  | column => "Column"
  | entity => "Entity"
  | generatedValue => "GeneratedValue"
  | id => "Id"
  | table => "Table"

/-! ## Methods -/

/-- A declared method. -/
structure Method where
  name : String
  returns : TypeRef
  markers : List Marker := []
deriving DecidableEq, Repr

/-- Whether a method reads a column. -/
def Method.isColumn (m : Method) : Bool := m.markers.contains .column

/-! ## Domain types -/

/-- A class of the application, with its methods in the order of their declaration. -/
structure DomainType where
  name : String
  package : String := ""
  markers : List Marker := []
  methods : List Method := []
deriving DecidableEq, Repr

namespace DomainType

/-- Whether an audit type is wanted. -/
def isAuditable (t : DomainType) : Bool := t.markers.contains .auditable

/-- Whether the type is persisted. -/
def isEntity (t : DomainType) : Bool := t.markers.contains .entity

/-- The methods that read a column, in the order of their declaration. -/
def columns (t : DomainType) : List Method := t.methods.filter Method.isColumn

/-- The name with the package in front, if there is one. -/
def qualifiedName (t : DomainType) : String :=
  if t.package = "" then t.name else t.package ++ "." ++ t.name

end DomainType

/-! ## Manifests -/

/-- The domain types of an application. -/
structure Manifest where
  types : List DomainType := []
deriving DecidableEq, Repr

/-- The types for which an audit type is wanted. -/
def auditableTypes (types : List DomainType) : List DomainType :=
  types.filter DomainType.isAuditable

end EntityAudit
