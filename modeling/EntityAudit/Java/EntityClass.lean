import EntityAudit.Artifact
import EntityAudit.Java.Property

/-!
# `EntityAudit.Java.EntityClass` — the source of an audit type

An audit type is an entity class: it extends the domain type, implements the common contract and has a
property for its identifier, one for its date and one for each column.  The contract itself is an
interface with the accessors of the date.

## Contents

* `EntityClass`, `EntityClass.ofAuditType` — the class as a value
* `EntityClass.lines` — its source text
* `interfaceLines` — the source text of the contract
* `AuditType.artifact`, `interfaceArtifact` — the finished files
-/

namespace EntityAudit.Java

/-! ## The class -/

/-- An entity class. -/
structure EntityClass where
  package : String
  name : String
  parent : String
  identity : Property
  date : Property
  columns : List Property
deriving DecidableEq, Repr

namespace EntityClass

/-- The entity class of an audit type. -/
def ofAuditType (a : AuditType) : EntityClass where
  package := a.package
  name := a.generatedName
  parent := a.domainName
  identity := .ofField a.idField
  date := .ofField AuditType.dateField
  columns := a.fields.map .ofField

/-- All properties, in the order of their accessors. -/
def properties (c : EntityClass) : List Property := c.identity :: c.date :: c.columns

end EntityClass

/-! ## Its source text -/

/-- The types that every entity class imports. -/
def imports : List String :=
  ["java.util.Date", "javax.persistence.Basic", "javax.persistence.Column", "javax.persistence.Entity",
   "javax.persistence.GeneratedValue", "javax.persistence.Id", "javax.persistence.Table",
   "javax.persistence.Temporal", "javax.persistence.TemporalType",
   "javax.xml.bind.annotation.XmlRootElement"]

/-- The declaration of the package, and an empty line. -/
def packageLines (package : String) : List Line := [⟨0, "package " ++ package ++ ";"⟩, .blank]

/-- The declaration of an import. -/
def importLine (name : String) : Line := ⟨0, "import " ++ name ++ ";"⟩

namespace EntityClass

/-- The head of the class with its annotations. -/
def headLines (c : EntityClass) : List Line :=
  [⟨0, "@Entity"⟩,
   ⟨0, "@Table(name = \"" ++ c.name ++ "\")"⟩,
   ⟨0, "@XmlRootElement(name = \"" ++ c.name ++ "\")"⟩,
   ⟨0, "public class " ++ c.name ++ " extends " ++ c.parent ++ " implements " ++ auditInterface⟩,
   ⟨0, "\x7b"⟩]

/-- The private fields of the identifier and the date, and the annotations of the identifier. -/
def fieldLines (c : EntityClass) : List Line :=
  [c.identity.declaration, c.date.declaration, .blank, ⟨1, "@Id"⟩, ⟨1, "@GeneratedValue"⟩]

/-- The source text of the class. -/
def lines (c : EntityClass) : List Line :=
  packageLines c.package ++ imports.map importLine ++ [.blank] ++ c.headLines ++ c.fieldLines
    ++ c.properties.flatMap Property.lines ++ [⟨0, "\x7d"⟩]

end EntityClass

/-! ## The contract -/

/-- The source text of the contract in a package. -/
def interfaceLines (package : String) : List Line :=
  let date := Property.ofField AuditType.dateField
  packageLines package
    ++ [importLine date.valueType.qualifiedName, .blank,
        ⟨0, "public interface " ++ auditInterface⟩,
        ⟨0, "\x7b"⟩,
        ⟨1, date.getterHead ++ ";"⟩,
        .blank,
        ⟨1, date.setterHead ++ ";"⟩,
        ⟨0, "\x7d"⟩]

end EntityAudit.Java

namespace EntityAudit

/-! ## The files -/

/-- The source file of an audit type. -/
def AuditType.artifact (a : AuditType) : Artifact :=
  ⟨a.qualifiedName, Java.render (Java.EntityClass.ofAuditType a).lines⟩

/-- The source file of the contract. -/
def interfaceArtifact (package : String) : Artifact :=
  ⟨package ++ "." ++ auditInterface, Java.render (Java.interfaceLines package)⟩

end EntityAudit
