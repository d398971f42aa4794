import EntityAudit.Domain.AuditType
import EntityAudit.Java.Source

/-!
# `EntityAudit.Java.Property` — a field with its two accessors

A column becomes a private field, a getter and a setter.  All their names come from the delimited form
of the name of the column.

## Contents

* `Property`, `Property.ofField` — the names and the type
* `Property.backing` — the private field
* `Property.getterLines`, `Property.setterLines`, `Property.lines` — the accessors
-/

namespace EntityAudit.Java

/-- A column of an entity class with everything that its source text mentions. -/
structure Property where
  /-- The name of the column in the database. -/
  column : String
  /-- The delimited form, which names the parameter of the setter. -/
  parameter : String
  getter : String
  setter : String
  valueType : ValueType
  isOptional : Bool
deriving DecidableEq, Repr

/-- The name of an accessor, `getCarMake` from `get` and `car_make`. -/
def accessorName (verb delimited : String) : String :=
  Identifier.compact (verb ++ "_" ++ delimited)

namespace Property

/-- The property of a column. -/
def ofField (f : AuditField) : Property :=
  let delimited := Identifier.delimited f.rawName
  { column := Identifier.compact delimited
    parameter := delimited
    getter := accessorName "get" delimited
    setter := accessorName "set" delimited
    valueType := f.valueType
    isOptional := f.isOptional }

/-- The private field. -/
def backing (p : Property) : String := "_" ++ p.parameter

/-- The declaration of the private field. -/
def declaration (p : Property) : Line :=
  ⟨1, "private " ++ p.valueType.simpleName ++ " " ++ p.backing ++ ";"⟩

/-- What the persistence provider is told about the column. -/
def annotations (p : Property) : List Line :=
  [⟨1, "@Column(name = \"" ++ p.column ++ "\")"⟩]
    ++ (if p.valueType.isTemporal then [⟨1, "@Temporal(TemporalType.TIMESTAMP)"⟩] else [])
    ++ (if p.isOptional then [] else [⟨1, "@Basic(optional = false)"⟩])

/-- The head of the getter. -/
def getterHead (p : Property) : String :=
  "public " ++ p.valueType.simpleName ++ " " ++ p.getter ++ "()"

theorem getterHead_eq (p : Property) :
    p.getterHead = "public " ++ p.valueType.simpleName ++ " " ++ p.getter ++ "()" := rfl

/-- The head of the setter. -/
def setterHead (p : Property) : String :=
  "public void " ++ p.setter ++ "(" ++ p.valueType.simpleName ++ " " ++ p.parameter ++ ")"

theorem setterHead_eq (p : Property) :
    p.setterHead = "public void " ++ p.setter ++ "(" ++ p.valueType.simpleName ++ " " ++ p.parameter
      ++ ")" := rfl

/-- A method with one statement, and an empty line after it. -/
def method (head statement : String) : List Line :=
  [⟨1, head⟩, ⟨1, "\x7b"⟩, ⟨2, statement⟩, ⟨1, "\x7d"⟩, .blank]

/-- The getter. -/
def getterLines (p : Property) : List Line :=
  method p.getterHead ("return " ++ p.backing ++ ";")

/-- The setter. -/
def setterLines (p : Property) : List Line :=
  method p.setterHead (p.backing ++ " = " ++ p.parameter ++ ";")

/-- Both accessors, the getter with the annotations. -/
def lines (p : Property) : List Line := p.annotations ++ p.getterLines ++ p.setterLines

end Property

end EntityAudit.Java
