import EntityAudit.Domain.AuditType
import EntityAudit.Volume.IoError

/-!
# `EntityAudit.Generation.Failure` — why an artifact was not generated

## Contents

* `FailureKind`, `Failure`
* `Failure.message`, `Failure.typeName` — what went wrong, and with what
* `simpleNameOf`, `Failure.diagnosis` — what the host is told
-/

namespace EntityAudit

/-- Whether a type could not be described or its artifact could not be written. -/
inductive FailureKind where
  | extract
  | write
deriving DecidableEq, Repr

/-- The name of a kind of failures. -/
def FailureKind.name : FailureKind → String
  | extract => "Extract"
  | write => "Write"

/-- Why an artifact was not generated. -/
inductive Failure where
  | extraction (error : ExtractionError)
  | writing (typeName qualifiedName : String) (cause : IoError)
deriving DecidableEq, Repr

/-- What follows the last dot of a qualified name. -/
def simpleNameOf (qualifiedName : String) : String :=
  String.ofList ((qualifiedName.toList.splitOn '.').getLast?.getD [])

namespace Failure

/-- The kind of a failure. -/
def kind : Failure → FailureKind
  | extraction _ => .extract
  | writing _ _ _ => .write

/-- The name of the type whose artifact was not generated. -/
def typeName : Failure → String
  | extraction e => e.typeName
  | writing t _ _ => t

/-- What went wrong. -/
def message : Failure → String
  | extraction e => e.message
  | writing t q cause => "failed to write '" ++ q ++ "' for '" ++ t ++ "': " ++ cause.message

/-- What the host is told, given the suffix of audit types. -/
def diagnosis (suffix : String) : Failure → String
  | writing _ q _ => "Problem opening file to write the " ++ simpleNameOf q ++ " class file"
  | extraction (.unresolvedFieldType t _ _) =>
    "Problem finding the given return type of a method to write the " ++ t ++ suffix ++ " class file"
  | extraction e =>
    "Problem describing " ++ e.typeName ++ " to write the " ++ e.typeName ++ suffix
      ++ " class file: " ++ e.message

end Failure

end EntityAudit
