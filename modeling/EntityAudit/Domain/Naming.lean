/-!
# `EntityAudit.Domain.Naming` — what audit types are called and where they live

## Contents

* `Naming` — the package of audit types and the suffix of their names
* `Naming.generatedName` — the name of the audit type of a domain type
* `auditInterface`, `auditDateName`, `getterStem` — names that every audit type shares
-/

namespace EntityAudit

/-- The contract that every audit type implements. -/
def auditInterface : String := "AuditInterface"

/-- The field that holds the moment of an audit record. -/
def auditDateName : String := "audit_date"

/-- What the name of a getter begins with. -/
def getterStem : String := "get"

/-- The package of audit types and the suffix that their names have. -/
structure Naming where
  package : String := "com.lsq.systems.metagen58"
  suffix : String := "Audit"
deriving DecidableEq, Repr

namespace Naming

/-- The name of the audit type of a domain type. -/
def generatedName (n : Naming) (domainName : String) : String := domainName ++ n.suffix

end Naming

end EntityAudit
