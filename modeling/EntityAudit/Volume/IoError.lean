/-!
# `EntityAudit.Volume.IoError` — why an operation on files failed

## Contents

* `IoErrorKind`, `IoError`, `IoError.message`
* `invalidUtf8`, `nulInPath` — the failures that no system call reports
-/

namespace EntityAudit

/-- What the operating system may object to. -/
inductive IoErrorKind where
  | notFound
  | alreadyExists
  | isADirectory
  | notADirectory
  | invalidInput
  | invalidFilename
deriving DecidableEq, Repr

/-- The name of a kind. -/
def IoErrorKind.name : IoErrorKind → String
  | notFound => "NotFound"
  | alreadyExists => "AlreadyExists"
  | isADirectory => "IsADirectory"
  | notADirectory => "NotADirectory"
  | invalidInput => "InvalidInput"
  | invalidFilename => "InvalidFilename"

/-- Why an operation failed: an objection of the operating system, or a reason in words. -/
inductive IoError where
  | system (kind : IoErrorKind)
  | other (text : String)
deriving DecidableEq, Repr

namespace IoError

/-- The text of a failure; that of the operating system is named by its kind alone. -/
def message : IoError → String
  | system kind => "<os:" ++ kind.name ++ ">"
  | other text => text

/-- A text file is not encoded in UTF-8. -/
def invalidUtf8 : IoError := other "stream did not contain valid UTF-8"

/-- A path contains the character that ends names. -/
def nulInPath : IoError := other "file name contained an unexpected NUL byte"

end IoError

end EntityAudit
